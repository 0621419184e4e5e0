import Troubleshooter.Library.Orders
import Troubleshooter.Python.Text

-- A dict, with its keys in the order of their insertion.
namespace Troubleshooter.Python

open Troubleshooter.Library

variable {α : Type}

-- dict[key] = value
def assign (dict : List (String × α)) (key : String) (value : α) : List (String × α) :=
  if (dict.lookup key).isSome then
    dict.map fun entry => if entry.1 = key then (key, value) else entry
  else dict ++ [(key, value)]

-- dict.update(entries)
def update (dict entries : List (String × α)) : List (String × α) :=
  entries.foldl (fun dict entry => assign dict entry.1 entry.2) dict

theorem lookup_replace (dict : List (String × α)) (key other : String) (value : α) :
    (dict.map fun entry => if entry.1 = key then (key, value) else entry).lookup other =
      if other = key then (dict.lookup key).map fun _ => value else dict.lookup other := by
  induction dict with
  | nil => split <;> rfl
  | cons entry dict ih =>
    rw [List.map_cons, Reconcile.lookup_cons_ite, Reconcile.lookup_cons_ite,
      Reconcile.lookup_cons_ite, ih]
    by_cases hentry : entry.1 = key
    · by_cases hother : other = key
      · simp [hentry, hother]
      · simp [hentry, hother]
    · by_cases hother : other = key
      · simp [hentry, hother, Ne.symm hentry]
      · simp [hentry, hother]

theorem lookup_append_singleton (dict : List (String × α)) (key other : String) (value : α) :
    (dict ++ [(key, value)]).lookup other =
      (dict.lookup other).or (if other = key then some value else none) := by
  rw [List.lookup_append, Reconcile.lookup_cons_ite]
  rfl

theorem lookup_assign (dict : List (String × α)) (key other : String) (value : α) :
    (assign dict key value).lookup other =
      if other = key then some value else dict.lookup other := by
  unfold assign
  split
  next hsome =>
    obtain ⟨old, hold⟩ := Option.isSome_iff_exists.mp hsome
    rw [lookup_replace, hold]
    rfl
  next hnone =>
    have hnone := Option.not_isSome_iff_eq_none.mp hnone
    rw [lookup_append_singleton]
    by_cases hother : other = key
    · simp [hother, hnone]
    · simp [hother]

theorem lookup_assign_of_ne {key other : String} (h : other ≠ key) (dict : List (String × α))
    (value : α) : (assign dict key value).lookup other = dict.lookup other := by
  rw [lookup_assign, if_neg h]

theorem lookup_setdefault (dict : List (String × α)) (key other : String) (value : α) :
    (setdefault dict key value).lookup other =
      (dict.lookup other).or (if other = key then some value else none) := by
  unfold setdefault
  split
  next hsome =>
    by_cases hother : other = key
    · obtain ⟨old, hold⟩ := Option.isSome_iff_exists.mp hsome
      rw [hother, hold, Option.some_or]
    · rw [if_neg hother, Option.or_none]
  next => exact lookup_append_singleton dict key other value

theorem lookup_setdefault_of_ne {key other : String} (h : other ≠ key)
    (dict : List (String × α)) (value : α) :
    (setdefault dict key value).lookup other = dict.lookup other := by
  rw [lookup_setdefault, if_neg h, Option.or_none]

-- An update leaves under a key its last entry, and else what was there.
theorem lookup_update (dict entries : List (String × α)) (key : String) :
    (update dict entries).lookup key = (entries.reverse.lookup key).or (dict.lookup key) := by
  induction entries generalizing dict with
  | nil => rfl
  | cons entry entries ih =>
    have hstep : update dict (entry :: entries) =
        update (assign dict entry.1 entry.2) entries := rfl
    rw [hstep, ih, lookup_assign, List.reverse_cons, List.lookup_append,
      Reconcile.lookup_cons_ite, Option.or_assoc]
    split
    · rfl
    · rfl

-- The keys of a dict are those it had, and a new one behind them.
theorem keys_assign (dict : List (String × α)) (key : String) (value : α) :
    Reconcile.keys (assign dict key value) =
      if key ∈ Reconcile.keys dict then Reconcile.keys dict else Reconcile.keys dict ++ [key] := by
  have hmem : (dict.lookup key).isSome ↔ key ∈ Reconcile.keys dict := by
    rw [← not_iff_not, Option.not_isSome_iff_eq_none, Reconcile.lookup_eq_none_iff]
  unfold assign
  simp only [hmem]
  split
  next =>
    rw [Reconcile.keys, List.map_map]
    refine List.map_congr_left fun entry _ => ?_
    by_cases hentry : entry.1 = key
    · simp [hentry]
    · simp [hentry]
  next => exact List.map_append

theorem nodup_keys_assign {dict : List (String × α)} (h : (Reconcile.keys dict).Nodup)
    (key : String) (value : α) : (Reconcile.keys (assign dict key value)).Nodup := by
  rw [keys_assign]
  split
  next => exact h
  next hnew =>
    exact List.Nodup.append h (List.nodup_singleton key) (List.disjoint_singleton.mpr hnew)

section Passes

variable {ε : Type} (place : ε → String) (value : Option α → ε → α)

-- for item in items: dict[place(item)] = value(dict.get(place(item)), item)
def assignAll (dict : List (String × α)) (items : List ε) : List (String × α) :=
  items.foldl (fun dict item => assign dict (place item) (value (dict.lookup (place item)) item))
    dict

variable {place value}

-- Under a key stands what its own items have made of what was there.
theorem lookup_assignAll {dict : List (String × α)} {items : List ε} {key : String} :
    (assignAll place value dict items).lookup key =
      (items.filter (place · = key)).foldl (fun old item => some (value old item))
        (dict.lookup key) := by
  induction items generalizing dict with
  | nil => rfl
  | cons item rest ih =>
    have hstep : assignAll place value dict (item :: rest) =
        assignAll place value
          (assign dict (place item) (value (dict.lookup (place item)) item)) rest := rfl
    rw [hstep, ih, lookup_assign, List.filter_cons]
    by_cases hplace : place item = key
    · rw [if_pos (decide_eq_true hplace), List.foldl_cons, hplace, if_pos rfl]
    · rw [if_neg (mt of_decide_eq_true hplace), if_neg (Ne.symm hplace)]

theorem nodup_keys_assignAll {dict : List (String × α)} {items : List ε}
    (h : (Reconcile.keys dict).Nodup) :
    (Reconcile.keys (assignAll place value dict items)).Nodup := by
  induction items generalizing dict with
  | nil => exact h
  | cons item rest ih => exact ih (nodup_keys_assign h _ _)

-- What holds of each entry and is kept by each item holds of each entry at the end.
theorem assignAll_all {P : String → α → Prop} {dict : List (String × α)} {items : List ε}
    (hdict : ∀ key old, dict.lookup key = some old → P key old)
    (hnew : ∀ item ∈ items, P (place item) (value none item))
    (hold : ∀ item ∈ items, ∀ old, P (place item) old → P (place item) (value (some old) item)) :
    ∀ key last, (assignAll place value dict items).lookup key = some last → P key last := by
  induction items generalizing dict with
  | nil => exact hdict
  | cons item rest ih =>
    refine ih ?_ (fun other h => hnew other (List.mem_cons_of_mem item h))
      fun other h => hold other (List.mem_cons_of_mem item h)
    intro key old hlookup
    rw [lookup_assign] at hlookup
    split at hlookup
    next hkey =>
      obtain rfl := Option.some.inj hlookup
      rw [hkey]
      cases hthere : dict.lookup (place item) with
      | none => exact hnew item List.mem_cons_self
      | some there => exact hold item List.mem_cons_self there (hdict _ there hthere)
    next => exact hdict key old hlookup

-- An entry is still there at the end, with what each item has kept of it.
theorem assignAll_keeps {P : α → Prop} {dict : List (String × α)} {items : List ε} {key : String}
    {old : α} (hold : dict.lookup key = some old) (hP : P old)
    (hstep : ∀ old item, P old → P (value (some old) item)) :
    ∃ last, (assignAll place value dict items).lookup key = some last ∧ P last := by
  induction items generalizing dict old with
  | nil => exact ⟨old, hold, hP⟩
  | cons item rest ih =>
    by_cases hplace : key = place item
    · refine ih ?_ (hstep old item hP)
      rw [lookup_assign, if_pos hplace, ← hplace, hold]
    · exact ih ((lookup_assign_of_ne hplace _ _).trans hold) hP

end Passes

end Troubleshooter.Python
