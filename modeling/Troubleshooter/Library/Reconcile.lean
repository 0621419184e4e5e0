import Mathlib.Data.List.Nodup
import Mathlib.Logic.Function.Basic

namespace Troubleshooter.Library

-- A keyed table, and a reconciler that keeps its own record of the keys it
-- installed: it installs what is listed, then removes what is on its record and no
-- longer listed.
namespace Reconcile

variable {κ ε : Type} [DecidableEq κ]

abbrev Table (κ ε : Type) := κ → Option ε

def install (table : Table κ ε) (entries : List (κ × ε)) : Table κ ε :=
  entries.foldl (fun table entry => Function.update table entry.1 (some entry.2)) table

def remove (table : Table κ ε) (keys : List κ) : Table κ ε :=
  keys.foldl (fun table key => Function.update table key none) table

def keys (entries : List (κ × ε)) : List κ := entries.map Prod.fst

def reconcile (table : Table κ ε) (record : List κ) (entries : List (κ × ε)) : Table κ ε :=
  remove (install table entries) (record.filter fun key => key ∉ keys entries)

section Install

variable (table : Table κ ε)

theorem install_cons (entry : κ × ε) (entries : List (κ × ε)) :
    install table (entry :: entries) =
      install (Function.update table entry.1 (some entry.2)) entries := rfl

theorem install_of_not_mem (entries : List (κ × ε)) (key : κ) (h : key ∉ keys entries) :
    install table entries key = table key := by
  induction entries generalizing table with
  | nil => rfl
  | cons entry entries ih =>
    simp only [keys, List.map_cons, List.mem_cons, not_or] at h
    rw [install_cons, ih _ h.2, Function.update_of_ne h.1]

theorem install_of_mem (entries : List (κ × ε)) (hnodup : (keys entries).Nodup) (key : κ)
    (value : ε) (h : (key, value) ∈ entries) : install table entries key = some value := by
  induction entries generalizing table with
  | nil => exact absurd h (List.not_mem_nil)
  | cons entry entries ih =>
    simp only [keys, List.map_cons, List.nodup_cons] at hnodup
    rw [install_cons]
    rcases List.mem_cons.mp h with rfl | hrest
    · rw [install_of_not_mem _ _ _ hnodup.1, Function.update_self]
    · exact ih _ hnodup.2 hrest

-- Installing never takes a key away.
theorem install_isSome (entries : List (κ × ε)) (key : κ)
    (h : (table key).isSome ∨ key ∈ keys entries) : (install table entries key).isSome := by
  induction entries generalizing table with
  | nil => simpa [keys, install] using h
  | cons entry entries ih =>
    rw [install_cons]
    refine ih _ ?_
    simp only [keys, List.map_cons, List.mem_cons] at h ⊢
    by_cases hkey : key = entry.1
    · exact Or.inl (by rw [hkey, Function.update_self]; rfl)
    · rw [Function.update_of_ne hkey]
      rcases h with h | h | h
      · exact Or.inl h
      · exact absurd h hkey
      · exact Or.inr h

-- Installing distinct keys changes nothing exactly when all of it is there already.
theorem install_eq_self_iff (entries : List (κ × ε)) (hnodup : (keys entries).Nodup) :
    install table entries = table ↔ ∀ entry ∈ entries, table entry.1 = some entry.2 := by
  constructor
  · intro hsame entry hmem
    rw [← hsame]
    exact install_of_mem table entries hnodup entry.1 entry.2 hmem
  · intro hthere
    funext key
    by_cases hkey : key ∈ keys entries
    · obtain ⟨entry, hmem, rfl⟩ := List.mem_map.mp hkey
      rw [install_of_mem table entries hnodup entry.1 entry.2 hmem, hthere entry hmem]
    · exact install_of_not_mem table entries key hkey

end Install

theorem remove_apply (table : Table κ ε) (gone : List κ) (key : κ) :
    remove table gone key = if key ∈ gone then none else table key := by
  induction gone generalizing table with
  | nil => rfl
  | cons first gone ih =>
    change remove (Function.update table first none) gone key = _
    rw [ih]
    by_cases hkey : key = first
    · simp [hkey]
    · simp [hkey, Function.update_of_ne]

section Reconcile

variable (table : Table κ ε) (record : List κ) (entries : List (κ × ε))

theorem reconcile_of_mem (hnodup : (keys entries).Nodup) (key : κ) (value : ε)
    (h : (key, value) ∈ entries) : reconcile table record entries key = some value := by
  have hkey : key ∈ keys entries := List.mem_map.mpr ⟨_, h, rfl⟩
  rw [reconcile, remove_apply, if_neg (by simp [hkey])]
  exact install_of_mem table entries hnodup key value h

theorem reconcile_of_not_mem (key : κ) (h : key ∉ keys entries) :
    reconcile table record entries key = if key ∈ record then none else table key := by
  rw [reconcile, remove_apply, install_of_not_mem table entries key h]
  simp [h]

-- The order in which stale keys are removed does not matter.
theorem reconcile_perm (names : List κ) (h : names.Perm record) :
    remove (install table entries) (names.filter fun key => key ∉ keys entries) =
      reconcile table record entries := by
  funext key
  rw [reconcile, remove_apply, remove_apply]
  simp only [List.mem_filter, h.mem_iff]

end Reconcile

-- A table with the reconciler's record of it.
structure Reconciled (κ ε : Type) where
  table : Table κ ε
  record : List κ

-- One pass over a listing: it may be unavailable, or break off behind some entries,
-- or go through.
inductive Pass (κ ε : Type) where
  | unavailable
  | broken (entries : List (κ × ε))
  | complete (entries : List (κ × ε))

def Reconciled.after (r : Reconciled κ ε) : Pass κ ε → Reconciled κ ε
  | .unavailable => r
  | .broken entries => { r with table := install r.table entries }
  | .complete entries => ⟨reconcile r.table r.record entries, keys entries⟩

end Reconcile

end Troubleshooter.Library
