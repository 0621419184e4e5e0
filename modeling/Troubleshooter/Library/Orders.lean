import Mathlib.Data.List.Perm.Basic
import Troubleshooter.Library.Reconcile

-- Entries that are installed in any order, where a key may stand with several values.
namespace Troubleshooter.Library.Reconcile

variable {κ ε : Type} [DecidableEq κ] (table : Table κ ε)

theorem install_append (first second : List (κ × ε)) :
    install table (first ++ second) = install (install table first) second :=
  List.foldl_append

omit [DecidableEq κ] in
theorem mem_keys {entries : List (κ × ε)} {key : κ} {value : ε} (h : (key, value) ∈ entries) :
    key ∈ keys entries := List.mem_map_of_mem (f := Prod.fst) h

-- The last entry of a key is the one that stays.
theorem install_last (entries : List (κ × ε)) (entry : κ × ε) (rest : List (κ × ε))
    (hrest : entry.1 ∉ keys rest) :
    install table (entries ++ entry :: rest) entry.1 = some entry.2 := by
  rw [install_append, install_cons, install_of_not_mem _ _ _ hrest, Function.update_self]

theorem install_cases (entries : List (κ × ε)) (key : κ) :
    (key ∉ keys entries ∧ install table entries key = table key) ∨
      ∃ value, (key, value) ∈ entries ∧ install table entries key = some value := by
  induction entries generalizing table with
  | nil => exact .inl ⟨List.not_mem_nil, rfl⟩
  | cons entry entries ih =>
    rw [install_cons]
    rcases ih (Function.update table entry.1 (some entry.2)) with
      ⟨hnone, heq⟩ | ⟨value, hmem, heq⟩
    · by_cases hkey : key = entry.1
      · refine .inr ⟨entry.2, ?_, ?_⟩
        · rw [hkey]
          exact List.mem_cons_self
        · rw [heq, hkey, Function.update_self]
      · refine .inl ⟨?_, ?_⟩
        · rw [keys, List.map_cons, List.mem_cons, not_or]
          exact ⟨hkey, hnone⟩
        · rw [heq, Function.update_of_ne hkey]
    · exact .inr ⟨value, List.mem_cons_of_mem _ hmem, heq⟩

-- Any entry of a key can be the last one.
theorem exists_perm_install {entries : List (κ × ε)} {key : κ} {value : ε}
    (hmem : (key, value) ∈ entries) :
    ∃ entries', entries'.Perm entries ∧ ∀ table, install table entries' key = some value := by
  obtain ⟨before, after, rfl⟩ := List.append_of_mem hmem
  refine ⟨before ++ after ++ [(key, value)], ?_, fun table => ?_⟩
  · rw [List.append_assoc]
    exact List.Perm.append_left before (List.perm_append_singleton _ _)
  · exact install_last table _ (key, value) [] List.not_mem_nil

-- And so can, at once, an entry of another one.
theorem exists_perm_install_two {entries : List (κ × ε)} {first second : κ} {value other : ε}
    (hne : first ≠ second) (hfirst : (first, value) ∈ entries)
    (hsecond : (second, other) ∈ entries) :
    ∃ entries', entries'.Perm entries ∧ ∀ table, install table entries' first = some value ∧
      install table entries' second = some other := by
  obtain ⟨before, after, rfl⟩ := List.append_of_mem hfirst
  have hrest : (second, other) ∈ before ++ after := by
    rcases List.mem_append.mp hsecond with hbefore | hafter
    · exact List.mem_append_left _ hbefore
    · rcases List.mem_cons.mp hafter with hsame | hafter
      · exact absurd (congrArg Prod.fst hsame).symm hne
      · exact List.mem_append_right _ hafter
  obtain ⟨rest, hperm, hinstall⟩ := exists_perm_install hrest
  refine ⟨rest ++ [(first, value)], ?_, fun table => ⟨?_, ?_⟩⟩
  · exact ((hperm.append_right _).trans (List.perm_append_singleton _ _)).trans
      List.perm_middle.symm
  · exact install_last table _ (first, value) [] List.not_mem_nil
  · have hother : second ∉ keys [(first, value)] := by simpa [keys] using hne.symm
    rw [install_append, install_of_not_mem _ _ _ hother, hinstall]

-- An order of what is picked from a list comes from an order of the list.
theorem exists_perm_filterMap {α β : Type} (f : α → Option β) (items : List α) {picked : List β}
    (hperm : picked.Perm (items.filterMap f)) :
    ∃ items' : List α, items'.Perm items ∧ items'.filterMap f = picked := by
  have hsome : List.Forall₂ (fun value item => f item = some value) (items.filterMap f)
      (items.filter fun item => (f item).isSome) := by
    clear hperm
    induction items with
    | nil => exact .nil
    | cons item items ih =>
      rw [List.filterMap_cons, List.filter_cons]
      cases hitem : f item with
      | none => exact ih
      | some value => exact .cons hitem ih
  obtain ⟨chosen, hchosen, hrest⟩ := List.perm_comp_forall₂ hperm hsome
  refine ⟨chosen ++ items.filter fun item => !(f item).isSome, ?_, ?_⟩
  · exact (hrest.append_right _).trans (List.filter_append_perm _ items)
  · have hnone : (items.filter fun item => !(f item).isSome).filterMap f = [] := by
      refine List.filterMap_eq_nil_iff.mpr fun item hitem => ?_
      simpa using (List.mem_filter.mp hitem).2
    rw [List.filterMap_append, hnone, List.append_nil]
    clear hrest hperm
    induction hchosen with
    | nil => rfl
    | cons hitem _ ih => rw [List.filterMap_cons, hitem, ih]

section Lookup

variable [BEq κ] [LawfulBEq κ] {entries entries' : List (κ × ε)} {key : κ}

theorem lookup_cons_ite (entry : κ × ε) (entries : List (κ × ε)) :
    (entry :: entries).lookup key = if key = entry.1 then some entry.2 else entries.lookup key := by
  rw [List.lookup_cons]
  by_cases hkey : key = entry.1
  · simp [hkey]
  · simp [hkey, beq_eq_false_iff_ne.mpr hkey]

omit [DecidableEq κ] in
theorem lookup_eq_some_iff (h : (keys entries).Nodup) (value : ε) :
    entries.lookup key = some value ↔ (key, value) ∈ entries := by
  induction entries with
  | nil => simp
  | cons entry entries ih =>
    obtain ⟨hnone, hrest⟩ := List.nodup_cons.mp h
    rw [List.lookup_cons]
    cases hkey : key == entry.1 with
    | true =>
      obtain rfl : key = entry.1 := eq_of_beq hkey
      constructor
      · intro hvalue
        rw [← Option.some.inj hvalue]
        exact List.mem_cons_self
      · intro hmem
        rcases List.mem_cons.mp hmem with heq | htail
        · rw [← heq]
        · exact absurd (mem_keys htail) hnone
    | false =>
      dsimp only
      rw [ih hrest, List.mem_cons]
      refine ⟨.inr, fun h => h.resolve_left fun heq => ?_⟩
      rw [← heq] at hkey
      exact absurd hkey (by simp)

omit [DecidableEq κ] in
theorem lookup_perm (hperm : entries'.Perm entries) (h : (keys entries).Nodup) :
    entries'.lookup key = entries.lookup key := by
  have h' : (keys entries').Nodup := (hperm.map Prod.fst).nodup_iff.mpr h
  ext value
  rw [lookup_eq_some_iff h', lookup_eq_some_iff h, hperm.mem_iff]

omit [DecidableEq κ] in
theorem lookup_eq_none_iff : entries.lookup key = none ↔ key ∉ keys entries := by
  rw [List.lookup_eq_none_iff]
  simp only [keys, List.mem_map, not_exists, not_and, bne_iff_ne]
  exact ⟨fun h entry hentry heq => h entry hentry heq.symm,
    fun h entry hentry heq => h entry hentry heq.symm⟩

end Lookup

end Troubleshooter.Library.Reconcile
