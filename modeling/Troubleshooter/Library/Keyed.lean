import Mathlib.Data.List.Nodup
import Mathlib.Data.List.Sort

namespace Troubleshooter.Library.Keyed

-- Rows that are told apart by a key that each of them carries.
variable {κ α : Type} (key : α → κ)

def Distinct (rows : List α) : Prop := (rows.map key).Nodup

theorem Distinct.map {β : Type} {key : α → κ} {key' : β → κ} {f : α → β}
    (hf : ∀ row, key' (f row) = key row) {rows : List α} (h : Distinct key rows) :
    Distinct key' (rows.map f) := by
  have hkeys : (rows.map f).map key' = rows.map key := by simp [hf]
  rw [Distinct, hkeys]
  exact h

-- The rows that there are, each once, in any order.
structure Lists (content : κ → Option α) (items : List α) : Prop where
  distinct : Distinct key items
  mem_iff : ∀ item, item ∈ items ↔ content (key item) = some item

-- What keeps the order and the choice can be done before or after the rows are listed.
theorem map_listed {α β : Type} (r : α → α → Prop) (s : β → β → Prop) [DecidableRel r]
    [DecidableRel s] (f : α → β) {admits : α → Bool} {admits' : β → Bool}
    (hadmits : ∀ row, admits' (f row) = admits row) {rows : List α}
    (horder : ∀ first ∈ rows, ∀ second ∈ rows, r first second ↔ s (f first) (f second)) :
    ((rows.filter admits).insertionSort r).map f =
      ((rows.map f).filter admits').insertionSort s := by
  have hfilter : (rows.map f).filter admits' = (rows.filter admits).map f := by
    rw [List.filter_map]
    congr 2
    funext row
    exact hadmits row
  rw [hfilter]
  refine List.map_insertionSort r s f _ fun first hfirst second hsecond => ?_
  exact horder first (List.mem_filter.mp hfirst).1 second (List.mem_filter.mp hsecond).1

section Lists

variable {key} {content : κ → Option α} {items items' : List α}

theorem Lists.map {β : Type} {key' : β → κ} {f : α → β} (hf : ∀ item, key' (f item) = key item)
    (h : Lists key content items) :
    Lists key' (fun k => (content k).map f) (items.map f) where
  distinct := h.distinct.map hf
  mem_iff shown := by
    rw [List.mem_map, Option.map_eq_some_iff]
    constructor
    · rintro ⟨item, hitem, rfl⟩
      exact ⟨item, hf item ▸ (h.mem_iff item).mp hitem, rfl⟩
    · rintro ⟨item, hitem, rfl⟩
      refine ⟨item, (h.mem_iff item).mpr ?_, rfl⟩
      rw [hf] at hitem
      exact hitem

theorem Lists.perm (h : Lists key content items) (h' : Lists key content items') :
    items.Perm items' :=
  (List.perm_ext_iff_of_nodup (h.distinct.of_map _) (h'.distinct.of_map _)).mpr fun item =>
    (h.mem_iff item).trans (h'.mem_iff item).symm

-- Under an order that tells the keys apart there is one listing.
theorem Lists.sorted_eq (r : α → α → Prop) [DecidableRel r] [Std.Total r] [IsTrans α r]
    (hkey : ∀ first second, r first second → r second first → key first = key second)
    (admits : α → Bool) (h : Lists key content items) (h' : Lists key content items') :
    (items.filter admits).insertionSort r = (items'.filter admits).insertionSort r := by
  have hperm : ((items.filter admits).insertionSort r).Perm
      ((items'.filter admits).insertionSort r) :=
    ((List.perm_insertionSort r _).trans ((h.perm h').filter admits)).trans
      (List.perm_insertionSort r _).symm
  refine List.Perm.eq_of_pairwise ?_ (List.pairwise_insertionSort r _)
    (List.pairwise_insertionSort r _) hperm
  intro first second hfirst hsecond hle hge
  have hfirst : first ∈ items :=
    (List.mem_filter.mp ((List.mem_insertionSort r).mp hfirst)).1
  have hsecond : second ∈ items :=
    (h.perm h').mem_iff.mpr (List.mem_filter.mp ((List.mem_insertionSort r).mp hsecond)).1
  exact List.inj_on_of_nodup_map h.distinct hfirst hsecond (hkey first second hle hge)

end Lists

variable [DecidableEq κ]

def find (rows : List α) (k : κ) : Option α := rows.find? fun row => key row == k

-- The row goes to the end, unless there is a row of its key: that one is merged with it.
def upsert (row : α) (merge : α → α) (rows : List α) : List α :=
  if rows.any fun old => key old == key row then
    rows.map fun old => if key old = key row then merge old else old
  else rows ++ [row]

section Find

variable {key}

theorem find_key {rows : List α} {k : κ} {row : α} (h : find key rows k = some row) :
    key row = k := by simpa using List.find?_some h

theorem mem_of_find {rows : List α} {k : κ} {row : α} (h : find key rows k = some row) :
    row ∈ rows := List.mem_of_find?_eq_some h

theorem find_eq_some_iff {rows : List α} (hdistinct : Distinct key rows) (k : κ) (row : α) :
    find key rows k = some row ↔ row ∈ rows ∧ key row = k := by
  constructor
  · exact fun h => ⟨mem_of_find h, find_key h⟩
  · rintro ⟨hrow, rfl⟩
    cases hfound : find key rows (key row) with
    | none =>
      have hnone := List.find?_eq_none.mp hfound row hrow
      simp at hnone
    | some other =>
      have heq : other = row :=
        List.inj_on_of_nodup_map hdistinct (mem_of_find hfound) hrow (find_key hfound)
      rw [heq]

theorem find_eq_none_iff {rows : List α} {k : κ} :
    find key rows k = none ↔ ∀ row ∈ rows, key row ≠ k := by
  simp [find, List.find?_eq_none]

variable {β : Type} {key' : β → κ}

-- What keeps the keys can be done before or after a row is looked up.
theorem find_map {f : α → β} (hf : ∀ row, key' (f row) = key row) (rows : List α) (k : κ) :
    find key' (rows.map f) k = (find key rows k).map f := by
  rw [find, List.find?_map]
  simp only [Function.comp_def, hf]
  rfl

end Find

section Upsert

variable {key} {row : α} {merge : α → α} (hmerge : ∀ old, key (merge old) = key row)
variable (rows : List α)

include hmerge

theorem key_merged (old : α) : key (if key old = key row then merge old else old) = key old := by
  split
  next h => exact (hmerge old).trans h.symm
  next => rfl

theorem find_upsert (k : κ) :
    find key (upsert key row merge rows) k =
      if k = key row then some ((find key rows k).elim row merge) else find key rows k := by
  unfold upsert
  split
  next hany =>
    rw [find_map (key_merged hmerge)]
    split
    next hk =>
      cases hfound : find key rows k with
      | none =>
        obtain ⟨old, hold, holdkey⟩ := List.any_eq_true.mp hany
        exact absurd ((beq_iff_eq.mp holdkey).trans hk.symm) (find_eq_none_iff.mp hfound old hold)
      | some old => simp [find_key hfound, hk]
    next hk =>
      cases hfound : find key rows k with
      | none => rfl
      | some old => simp [find_key hfound, hk]
  next hnone =>
    have hfree : ∀ old ∈ rows, key old ≠ key row := by simpa using hnone
    have happend : find key (rows ++ [row]) k = (find key rows k).or (find key [row] k) :=
      List.find?_append
    rw [happend]
    split
    next hk =>
      have hnew : find key rows k = none := find_eq_none_iff.mpr (by rwa [hk])
      rw [hnew]
      simp [find, hk]
    next hk => simp [find, Ne.symm hk]

theorem Distinct.upsert {rows : List α} (h : Distinct key rows) :
    Distinct key (upsert key row merge rows) := by
  unfold Keyed.upsert
  split
  next => exact h.map (key_merged hmerge)
  next hnone =>
    have hfree : ∀ old ∈ rows, key old ≠ key row := by simpa using hnone
    rw [Distinct, List.map_append]
    refine List.nodup_append.mpr ⟨h, List.nodup_singleton _, ?_⟩
    intro k hk k' hk'
    obtain ⟨old, hold, rfl⟩ := List.mem_map.mp hk
    rw [List.mem_singleton.mp hk']
    exact hfree old hold

end Upsert

theorem Lists.of_find {key : α → κ} {items : List α} (h : Distinct key items) :
    Lists key (find key items) items where
  distinct := h
  mem_iff item := by simp [find_eq_some_iff h]

end Troubleshooter.Library.Keyed
