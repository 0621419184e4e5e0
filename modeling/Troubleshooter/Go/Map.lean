import Mathlib.Data.List.AList

namespace Troubleshooter.Go

-- A Go map is known by its lookups; nothing here reads the order of its entries.
abbrev Map (κ α : Type) := AList fun _ : κ => α

namespace Map

variable {κ α : Type} [DecidableEq κ]

-- value, ok := m[key]
def get? (map : Map κ α) (key : κ) : Option α := map.lookup key

-- m[key] = value
def set (map : Map κ α) (key : κ) (value : α) : Map κ α := map.insert key value

-- delete(m, key)
def delete (map : Map κ α) (key : κ) : Map κ α := map.erase key

@[simp] theorem get?_empty (key : κ) : (∅ : Map κ α).get? key = none := AList.lookup_empty key

theorem get?_set (map : Map κ α) (key other : κ) (value : α) :
    (map.set key value).get? other = if other = key then some value else map.get? other := by
  split
  next heq => rw [heq]; exact AList.lookup_insert map
  next hne => exact AList.lookup_insert_ne hne

theorem get?_delete (map : Map κ α) (key other : κ) :
    (map.delete key).get? other = if other = key then none else map.get? other := by
  split
  next heq => rw [heq]; exact AList.lookup_erase key map
  next hne => exact AList.lookup_erase_ne hne

end Map

end Troubleshooter.Go
