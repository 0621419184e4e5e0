import Troubleshooter.Go.Map
import Troubleshooter.Library.Orders

namespace Troubleshooter.Go.Map

open Troubleshooter.Library

variable {κ α : Type} [DecidableEq κ]

-- The entries of a map, in one of the orders in which it may be ranged over.
def toList (map : Map κ α) : List (κ × α) := map.entries.map fun entry => (entry.1, entry.2)

-- for key, value := range entries { m[key] = value }
def setAll (map : Map κ α) (entries : List (κ × α)) : Map κ α :=
  entries.foldl (fun map entry => map.set entry.1 entry.2) map

theorem get?_setAll (map : Map κ α) (entries : List (κ × α)) :
    (map.setAll entries).get? = Reconcile.install map.get? entries := by
  induction entries generalizing map with
  | nil => rfl
  | cons entry entries ih =>
    have hset : (map.set entry.1 entry.2).get? =
        Function.update map.get? entry.1 (some entry.2) := by
      funext key
      rw [get?_set, Function.update_apply]
    exact (ih (map.set entry.1 entry.2)).trans (by rw [hset]; rfl)

theorem mem_toList_iff (map : Map κ α) (key : κ) (value : α) :
    (key, value) ∈ map.toList ↔ map.get? key = some value := by
  unfold toList get?
  rw [AList.lookup, List.mem_map]
  constructor
  · rintro ⟨entry, hentry, heq⟩
    obtain ⟨rfl, rfl⟩ := Prod.mk.inj heq
    exact List.mem_dlookup map.nodupKeys hentry
  · intro hlookup
    exact ⟨⟨key, value⟩, List.of_mem_dlookup hlookup, rfl⟩

-- What is found in a map that entries have been written to comes from one of them, and what
-- was written is found.
theorem mem_of_get?_setAll {map : Map κ α} {entries : List (κ × α)} {key : κ} {value : α}
    (h : (map.setAll entries).get? key = some value) :
    (key, value) ∈ entries ∨ map.get? key = some value := by
  rw [get?_setAll] at h
  rcases Reconcile.install_cases map.get? entries key with ⟨-, heq⟩ | ⟨other, hother, heq⟩
  · exact .inr (heq ▸ h)
  · rw [heq] at h
    exact .inl (Option.some.inj h ▸ hother)

theorem get?_setAll_isSome {map : Map κ α} {entries : List (κ × α)} {key : κ}
    (h : (map.get? key).isSome ∨ key ∈ Reconcile.keys entries) :
    ((map.setAll entries).get? key).isSome := by
  rw [get?_setAll]
  exact Reconcile.install_isSome map.get? entries key h

omit [DecidableEq κ] in
theorem keys_toList_nodup (map : Map κ α) : (map.toList.map Prod.fst).Nodup := by
  unfold toList
  rw [List.map_map]
  exact map.nodupKeys

end Troubleshooter.Go.Map
