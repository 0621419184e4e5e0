import Mathlib.Data.List.Induction
import Mathlib.Data.List.Infix
import Mathlib.Data.List.Nodup
import Mathlib.Data.List.Range

-- The first item of each key, in order.
namespace Troubleshooter.Library.Firsts

variable {α κ : Type} [DecidableEq κ] (key : α → κ)

-- No item before this position has the key of the one at it.
def IsFirst (items : List α) (i : Nat) : Prop :=
  ∀ item ∈ items[i]?, key item ∉ (items.take i).map key

instance (items : List α) (i : Nat) : Decidable (IsFirst key items i) :=
  match h : items[i]? with
  | none => isTrue fun _ hitem => by rw [h] at hitem; exact nomatch hitem
  | some item => decidable_of_iff (key item ∉ (items.take i).map key) <| by
      rw [IsFirst, h]
      exact ⟨fun hnew _ hitem => Option.some.inj hitem ▸ hnew, fun hnew => hnew item rfl⟩

def firsts (items : List α) : List α :=
  (List.range items.length).filterMap fun i => if IsFirst key items i then items[i]? else none

-- One more item, which is kept where its key is new.
def add (kept : List α) (item : α) : List α :=
  if key item ∈ kept.map key then kept else kept ++ [item]

variable {key} {items kept : List α} {item : α}

@[simp] theorem firsts_nil : firsts key ([] : List α) = [] := rfl

omit [DecidableEq κ] in
theorem isFirst_append {i : Nat} (hi : i < items.length) :
    IsFirst key (items ++ [item]) i ↔ IsFirst key items i := by
  rw [IsFirst, IsFirst, List.getElem?_append_left hi, List.take_append_of_le_length hi.le]

omit [DecidableEq κ] in
theorem isFirst_length : IsFirst key (items ++ [item]) items.length ↔ key item ∉ items.map key := by
  rw [IsFirst, List.getElem?_concat_length, List.take_left]
  exact ⟨fun hnew => hnew item rfl, fun hnew _ hitem => Option.some.inj hitem ▸ hnew⟩

theorem firsts_concat : firsts key (items ++ [item]) =
    if key item ∈ items.map key then firsts key items else firsts key items ++ [item] := by
  have hbefore : (List.range items.length).filterMap (fun i =>
      if IsFirst key (items ++ [item]) i then (items ++ [item])[i]? else none) =
        firsts key items := by
    refine List.filterMap_congr fun i hi => ?_
    have hlt := List.mem_range.mp hi
    simp only [isFirst_append hlt, List.getElem?_append_left hlt]
  rw [firsts, List.length_append, List.length_singleton, List.range_succ, List.filterMap_append,
    hbefore]
  simp only [List.filterMap_cons, List.filterMap_nil, isFirst_length,
    List.getElem?_concat_length]
  by_cases hold : key item ∈ items.map key
  · rw [if_neg (not_not_intro hold), if_pos hold, List.append_nil]
  · rw [if_pos hold, if_neg hold]

-- Every key is kept.
theorem mem_map_firsts {k : κ} : k ∈ (firsts key items).map key ↔ k ∈ items.map key := by
  induction items using List.reverseRecOn with
  | nil => rfl
  | append_singleton items item ih =>
    rw [firsts_concat, List.map_append, List.mem_append]
    split
    next hold =>
      rw [ih, List.map_singleton, List.mem_singleton]
      exact ⟨.inl, fun h => h.elim id fun heq => heq ▸ hold⟩
    next => rw [List.map_append, List.mem_append, ih]

theorem foldl_add : items.foldl (add key) [] = firsts key items := by
  induction items using List.reverseRecOn with
  | nil => rfl
  | append_singleton items item ih =>
    rw [List.foldl_append, List.foldl_cons, List.foldl_nil, ih, firsts_concat, add]
    simp only [mem_map_firsts]

theorem firsts_append {others : List α} :
    firsts key (items ++ others) = others.foldl (add key) (firsts key items) := by
  rw [← foldl_add, ← foldl_add, List.foldl_append]

-- Nothing is left out of a list without two items of one key.
theorem firsts_of_nodup (h : (items.map key).Nodup) : firsts key items = items := by
  induction items using List.reverseRecOn with
  | nil => rfl
  | append_singleton items item ih =>
    rw [List.map_append, List.map_singleton] at h
    obtain ⟨hitems, -, hdisjoint⟩ := List.nodup_append.mp h
    rw [firsts_concat, if_neg fun hold => hdisjoint _ hold _ List.mem_cons_self rfl, ih hitems]

theorem nodup_map_add (h : (kept.map key).Nodup) : ((add key kept item).map key).Nodup := by
  unfold add
  split
  next => exact h
  next hnew =>
    rw [List.map_append, List.map_singleton]
    exact List.Nodup.append h (List.nodup_singleton _) (List.disjoint_singleton.mpr hnew)

theorem prefix_add : kept <+: add key kept item := by
  unfold add
  split
  next => exact List.prefix_refl kept
  next => exact List.prefix_append kept [item]

theorem prefix_foldl_add : kept <+: items.foldl (add key) kept := by
  induction items generalizing kept with
  | nil => exact List.prefix_refl kept
  | cons item rest ih => exact prefix_add.trans ih

-- No key is kept twice.
theorem nodup_map_firsts : ((firsts key items).map key).Nodup := by
  induction items using List.reverseRecOn with
  | nil => exact List.nodup_nil
  | append_singleton items item ih =>
    rw [← foldl_add, List.foldl_append, foldl_add]
    exact nodup_map_add ih

section Plain

variable [DecidableEq α]

theorem mem_firsts_id : item ∈ firsts id items ↔ item ∈ items := by
  have hmem := @mem_map_firsts α α _ id items item
  rwa [List.map_id, List.map_id] at hmem

theorem nodup_firsts_id : (firsts id items).Nodup := by
  have hnodup := @nodup_map_firsts α α _ id items
  rwa [List.map_id] at hnodup

end Plain

end Troubleshooter.Library.Firsts
